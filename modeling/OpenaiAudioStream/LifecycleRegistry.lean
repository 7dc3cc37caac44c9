import OpenaiAudioStream.LifecycleExclusion

/-!
Entries left in the lifecycle registry. A release decides on erasing while it still
owns its reference, and drops that reference later: releases that overlap there each
see the other's reference, and none of them erases.
-/

namespace OpenaiAudioStream

section

variable {τ υ : Type*}

def LockStep.allocationFailed : LockStep τ υ → Bool
  | .createFailed _ _ _ => true
  | .handleFailed _ => true
  | _ => false

def LockState.Released (state : LockState τ υ) (session : υ) : Prop :=
  ∀ handle ∈ state.handles, handle.session ≠ session

def NoStaleEntry (state : LockState τ υ) : Prop :=
  ∀ session, state.Released session → state.registry session = none

structure EntriesOwned (state : LockState τ υ) : Prop where
  lock : LockInvariant state
  owned : ∀ session, state.registry session ≠ none →
    ∃ handle ∈ state.handles, handle.session = session ∧ handle.phase ≠ .checked

theorem entriesOwned_initial : EntriesOwned ({} : LockState τ υ) where
  lock := lockInvariant_initial
  owned := by simp

variable [DecidableEq τ] [DecidableEq υ]

/-- A release that does not own the only reference is checked before some other owner. -/
def LeavesOwner (state : LockState τ υ) : LockStep τ υ → Prop
  | .check handle =>
      (∃ other ∈ state.handles.erase handle, other.mutex = handle.mutex) →
      ∃ other ∈ state.handles.erase handle, other.mutex = handle.mutex ∧ other.phase ≠ .checked
  | _ => True

instance (state : LockState τ υ) (label : LockStep τ υ) : Decidable (LeavesOwner state label) := by
  cases label <;> unfold LeavesOwner <;> infer_instance

theorem erases_of_alone {state : LockState τ υ} {handle : LockHandle τ υ}
    (member : handle ∈ state.handles)
    (entry : state.registry handle.session = some (some handle.mutex))
    (alone : ∀ other ∈ state.handles.erase handle, other.mutex ≠ handle.mutex) :
    releaseErases state handle = true := by
  have rest : (state.handles.erase handle).countP (fun each => each.mutex == handle.mutex) = 0 :=
    List.countP_eq_zero.mpr fun other left => by simpa using alone other left
  have single : state.useCount handle.mutex = 1 := by
    rw [LockState.useCount, countP_erase_of_mem member, rest]
    simp
  simp [releaseErases, entry, single, LockState.lockWeak]

theorem owned_move {state : LockState τ υ} {handle : LockHandle τ υ} {phase : HandlePhase}
    (unchecked : phase ≠ .checked) {session : υ}
    (owner : ∃ other ∈ state.handles, other.session = session ∧ other.phase ≠ .checked) :
    ∃ other ∈ state.move handle phase, other.session = session ∧ other.phase ≠ .checked := by
  obtain ⟨other, member, same, early⟩ := owner
  by_cases this_ : other = handle
  · subst this_
    exact ⟨_, mem_move.mpr (Or.inl rfl), same, unchecked⟩
  · exact ⟨other, mem_move.mpr (Or.inr ((List.mem_erase_of_ne this_).mpr member)), same, early⟩

theorem owned_erase {state : LockState τ υ} {handle : LockHandle τ υ} {session : υ}
    (other : ∃ other ∈ state.handles, other.session = session ∧ other.phase ≠ .checked)
    (gone : handle.phase = .checked ∨ handle.session ≠ session) :
    ∃ other ∈ state.handles.erase handle, other.session = session ∧ other.phase ≠ .checked := by
  obtain ⟨owner, member, same, early⟩ := other
  have different : owner ≠ handle := by
    rintro rfl
    rcases gone with late | elsewhere
    · exact early late
    · exact elsewhere same
  exact ⟨owner, (List.mem_erase_of_ne different).mpr member, same, early⟩

theorem entriesOwned_transition {state next : LockState τ υ} {label : LockStep τ υ}
    (held : EntriesOwned state) (succeeded : label.allocationFailed = false)
    (guarded : LeavesOwner state label) (moved : LockTransition state label next) :
    EntriesOwned next := by
  refine ⟨lockInvariant_transition held.lock moved, ?_⟩
  cases moved with
  | found thread session mutex found =>
      intro other present
      obtain ⟨owner, member, same, early⟩ := held.owned other present
      exact ⟨owner, List.mem_cons_of_mem _ member, same, early⟩
  | created thread session absent =>
      intro other present
      by_cases same : other = session
      · exact ⟨_, List.mem_cons_self, same.symm, by simp⟩
      · simp only [Function.update_of_ne same] at present
        obtain ⟨owner, member, equal, early⟩ := held.owned other present
        exact ⟨owner, List.mem_cons_of_mem _ member, equal, early⟩
  | entryLeft | createFailed | handleFailed => cases succeeded
  | locked handle member waiting free =>
      exact fun session present => owned_move (by simp) (held.owned session present)
  | unlocked handle member inside =>
      exact fun session present => owned_move (by simp) (held.owned session present)
  | erased handle member standing erases =>
      intro session present
      by_cases same : session = handle.session
      · subst same
        simp at present
      · simp only [Function.update_of_ne same] at present
        obtain ⟨owner, left, equal, early⟩ :=
          owned_erase (held.owned session present) (Or.inr (Ne.symm same))
        exact ⟨owner, mem_move.mpr (Or.inr left), equal, early⟩
  | kept handle member standing keeps =>
      intro session present
      by_cases same : handle.session = session
      · subst same
        have entry := held.lock.entry handle member (by simp [standing])
        have shared : ∃ other ∈ state.handles.erase handle, other.mutex = handle.mutex := by
          by_contra alone
          have erases := erases_of_alone member entry
            fun other left equal => alone ⟨other, left, equal⟩
          rw [keeps] at erases
          cases erases
        obtain ⟨owner, left, equal, early⟩ := guarded shared
        have named := held.lock.named handle.session handle.mutex entry owner
          (List.mem_of_mem_erase left) equal
        exact ⟨owner, mem_move.mpr (Or.inr left), named, early⟩
      · obtain ⟨owner, left, equal, early⟩ :=
          owned_erase (held.owned session present) (Or.inr same)
        exact ⟨owner, mem_move.mpr (Or.inr left), equal, early⟩
  | deleted handle member standing =>
      exact fun session present => owned_erase (held.owned session present) (Or.inl standing)

/-- Without allocation failures, and when no release but the last one is checked after
all the other references were, sessions without handles have no entry. -/
theorem lifecycle_registry_is_cleared {labels : List (LockStep τ υ)} {state : LockState τ υ}
    (reached : Runs.run lockStep {} labels = some state)
    (succeeded : ∀ label ∈ labels, label.allocationFailed = false)
    (guarded : Runs.Along lockStep LeavesOwner {} labels) : NoStaleEntry state := by
  have both := Runs.along_and guarded (Runs.along_of_labels succeeded ({} : LockState τ υ))
  have final := Runs.along_invariant
    (fun _ _ _ held met taken =>
      entriesOwned_transition held met.2 met.1 (lockStep_transition taken))
    entriesOwned_initial both reached
  intro session released
  by_contra present
  obtain ⟨owner, member, same, _⟩ := final.owned session present
  exact released owner member same

def heldBy (thread : Nat) (phase : HandlePhase) : LockHandle Nat Nat := ⟨thread, 0, 0, phase⟩

theorem lifecycle_registry_is_cleared_in_turn :
    ∃ state : LockState Nat Nat, Runs.run lockStep {}
        [.lookup 1 0, .lock (heldBy 1 .referenced), .lookup 2 0, .unlock (heldBy 1 .locked),
          .check (heldBy 1 .unlocked), .delete (heldBy 1 .checked), .lock (heldBy 2 .referenced),
          .unlock (heldBy 2 .locked), .check (heldBy 2 .unlocked),
          .delete (heldBy 2 .checked)] = some state ∧ NoStaleEntry state := by
  obtain ⟨state, reached⟩ := Option.isSome_iff_exists.mp
    (by decide : (Runs.run lockStep ({} : LockState Nat Nat)
      [.lookup 1 0, .lock (heldBy 1 .referenced), .lookup 2 0, .unlock (heldBy 1 .locked),
        .check (heldBy 1 .unlocked), .delete (heldBy 1 .checked), .lock (heldBy 2 .referenced),
        .unlock (heldBy 2 .locked), .check (heldBy 2 .unlocked),
        .delete (heldBy 2 .checked)]).isSome = true)
  exact ⟨state, reached, lifecycle_registry_is_cleared reached (by decide) (by decide)⟩

/-- Both threads have unlocked before either is checked, and both are checked before
either deletes its handle: the entry stays. -/
theorem overlapping_releases_leave_entry :
    ∃ state : LockState Nat Nat, Runs.run lockStep {}
        [.lookup 1 0, .lock (heldBy 1 .referenced), .lookup 2 0, .unlock (heldBy 1 .locked),
          .lock (heldBy 2 .referenced), .unlock (heldBy 2 .locked), .check (heldBy 1 .unlocked),
          .check (heldBy 2 .unlocked), .delete (heldBy 1 .checked),
          .delete (heldBy 2 .checked)] = some state ∧
      state.handles = [] ∧ ¬NoStaleEntry state := by
  have left : ∃ state : LockState Nat Nat, Runs.run lockStep {}
        [.lookup 1 0, .lock (heldBy 1 .referenced), .lookup 2 0, .unlock (heldBy 1 .locked),
          .lock (heldBy 2 .referenced), .unlock (heldBy 2 .locked), .check (heldBy 1 .unlocked),
          .check (heldBy 2 .unlocked), .delete (heldBy 1 .checked),
          .delete (heldBy 2 .checked)] = some state ∧
      state.handles = [] ∧ state.registry 0 ≠ none := Runs.exists_run (by decide)
  obtain ⟨state, reached, empty, present⟩ := left
  exact ⟨state, reached, empty,
    fun cleared => present (cleared 0 (by simp [LockState.Released, empty]))⟩

end

end OpenaiAudioStream
