import OpenaiAudioStream.Runs
import Mathlib.Data.List.Count
import Mathlib.Logic.Function.Basic

/-!
A ledger of resources: what is acquired, used and released, by whom, in which order. The
users of a resource are the resources, such as threads, that may still reach it; it is
released after all of them. Nothing here mentions a particular program.
-/

namespace Ledger

open Runs

inductive Entry (ρ : Type*) where
  | acquired (resource : ρ)
  | used (resource : ρ)
  | released (resource : ρ)
  deriving DecidableEq, Repr

section

variable {ρ : Type*} [DecidableEq ρ]

def post (users : ρ → List ρ) (owned : ρ → Bool) : Entry ρ → Option (ρ → Bool)
  | .acquired resource =>
      if owned resource then none else some (Function.update owned resource true)
  | .used resource => if owned resource then some owned else none
  | .released resource =>
      if owned resource ∧ ∀ user ∈ users resource, owned user = false then
        some (Function.update owned resource false)
      else none

def outstanding (history : List (Entry ρ)) (resource : ρ) : Int :=
  history.count (.acquired resource) - history.count (.released resource)

/-- Acquired when it is not owned, used and released while it is, and released after its
users. -/
def Lawful (users : ρ → List ρ) (older : List (Entry ρ)) : Entry ρ → Prop
  | .acquired resource => outstanding older resource = 0
  | .used resource => outstanding older resource = 1
  | .released resource =>
      outstanding older resource = 1 ∧ ∀ user ∈ users resource, outstanding older user = 0

/-- A lawful history, newest entry first, after which `owned` is owned. -/
structure Books (users : ρ → List ρ) (history : List (Entry ρ)) (owned : ρ → Bool) : Prop where
  lawful : EveryEvent (Lawful users) history
  balance : ∀ resource, outstanding history resource = if owned resource then 1 else 0

theorem books_empty (users : ρ → List ρ) : Books users [] fun _ => false where
  lawful := trivial
  balance := by simp [outstanding]

theorem outstanding_acquired (history : List (Entry ρ)) (changed resource : ρ) :
    outstanding (.acquired changed :: history) resource =
      outstanding history resource + if changed = resource then 1 else 0 := by
  by_cases same : changed = resource
  · subst same
    simp only [outstanding, List.count_cons_self, List.count_cons, if_true]
    simp
    omega
  · simp [outstanding, same]

theorem outstanding_used (history : List (Entry ρ)) (changed resource : ρ) :
    outstanding (.used changed :: history) resource = outstanding history resource := by
  simp [outstanding]

theorem outstanding_released (history : List (Entry ρ)) (changed resource : ρ) :
    outstanding (.released changed :: history) resource =
      outstanding history resource - if changed = resource then 1 else 0 := by
  by_cases same : changed = resource
  · subst same
    simp only [outstanding, List.count_cons_self, List.count_cons, if_true]
    simp
    omega
  · simp [outstanding, same]

variable {users : ρ → List ρ} {history : List (Entry ρ)} {owned next : ρ → Bool}

theorem Books.post {entry : Entry ρ} (books : Books users history owned)
    (posted : post users owned entry = some next) : Books users (entry :: history) next := by
  cases entry with
  | acquired changed =>
      simp only [Ledger.post, Option.ite_none_left_eq_some, Option.some.injEq] at posted
      obtain ⟨fresh, rfl⟩ := posted
      refine ⟨⟨?_, books.lawful⟩, fun resource => ?_⟩
      · simpa [Lawful, fresh] using books.balance changed
      · rw [outstanding_acquired, books.balance]
        by_cases same : changed = resource
        · subst same
          simp [fresh]
        · simp [same, Function.update_of_ne (Ne.symm same)]
  | used changed =>
      simp only [Ledger.post, Option.ite_none_right_eq_some, Option.some.injEq] at posted
      obtain ⟨held, rfl⟩ := posted
      refine ⟨⟨?_, books.lawful⟩, fun resource => ?_⟩
      · simpa [Lawful, held] using books.balance changed
      · rw [outstanding_used, books.balance]
  | released changed =>
      simp only [Ledger.post, Option.ite_none_right_eq_some, Option.some.injEq] at posted
      obtain ⟨⟨held, free⟩, rfl⟩ := posted
      refine ⟨⟨⟨?_, fun user member => ?_⟩, books.lawful⟩, fun resource => ?_⟩
      · simpa [held] using books.balance changed
      · simpa [free user member] using books.balance user
      · rw [outstanding_released, books.balance]
        by_cases same : changed = resource
        · subst same
          simp [held]
        · simp [same, Function.update_of_ne (Ne.symm same)]

theorem Books.run {entries : List (Entry ρ)} (books : Books users history owned)
    (posted : run (Ledger.post users) owned entries = some next) :
    Books users (entries.reverse ++ history) next := by
  induction entries generalizing history owned with
  | nil =>
      obtain rfl := Option.some.inj posted
      exact books
  | cons entry rest ih =>
      obtain ⟨middle, first, later⟩ := run_cons_inv posted
      have kept := ih (books.post first) later
      simpa using kept

theorem Books.settled (books : Books users history owned) {resource : ρ}
    (free : owned resource = false) :
    history.count (.acquired resource) = history.count (.released resource) := by
  have balance := books.balance resource
  simp only [outstanding, free, Bool.false_eq_true, if_false] at balance
  omega

/-! Rules for the entries of a piece of code. -/

theorem run_append {first second : List (Entry ρ)} {middle : ρ → Bool}
    (before : run (post users) owned first = some middle)
    (after : run (post users) middle second = some next) :
    run (post users) owned (first ++ second) = some next := by
  induction first generalizing owned with
  | nil =>
      obtain rfl := Option.some.inj before
      exact after
  | cons entry rest ih =>
      obtain ⟨start, posted, later⟩ := run_cons_inv before
      simp only [List.cons_append, run, posted, Option.bind_some]
      exact ih later

theorem run_acquired {resource : ρ} (fresh : owned resource = false) :
    run (post users) owned [.acquired resource] = some (Function.update owned resource true) := by
  simp [run, post, fresh]

theorem run_acquired_if (flag : Bool) {resource : ρ} (fresh : owned resource = false) :
    run (post users) owned (if flag then [.acquired resource] else []) =
      some (Function.update owned resource flag) := by
  cases flag with
  | true => exact run_acquired fresh
  | false =>
      have same := Function.update_eq_self resource owned
      rw [fresh] at same
      exact congrArg some same.symm

theorem run_released {resource : ρ} (held : owned resource = true)
    (free : ∀ user ∈ users resource, owned user = false) :
    run (post users) owned [.released resource] = some (Function.update owned resource false) := by
  have posted : post users owned (.released resource) =
      some (Function.update owned resource false) := if_pos ⟨held, free⟩
  simp [run, posted]

theorem run_released_if {flag : Bool} {resource : ρ} (held : owned resource = flag)
    (free : ∀ user ∈ users resource, owned user = false) :
    run (post users) owned (if flag then [.released resource] else []) =
      some (Function.update owned resource false) := by
  cases flag with
  | true => exact run_released held free
  | false =>
      have same := Function.update_eq_self resource owned
      rw [held] at same
      exact congrArg some same.symm

theorem run_use {resource : ρ} {rest : List (Entry ρ)} (held : owned resource = true)
    (after : run (post users) owned rest = some next) :
    run (post users) owned (.used resource :: rest) = some next := by
  simpa [run, post, held] using after

theorem run_used {resources : List ρ} (held : ∀ resource ∈ resources, owned resource = true) :
    run (post users) owned (resources.map Entry.used) = some owned := by
  induction resources with
  | nil => rfl
  | cons resource rest ih =>
      exact run_use (held resource (by simp)) (ih fun other member => held other (by simp [member]))

end

/-! One ledger for many owners: the entries of one of them leave the others alone. -/

section

variable {κ ρ : Type*} [DecidableEq κ] [DecidableEq ρ]

def Entry.tag (key : κ) : Entry ρ → Entry (κ × ρ)
  | .acquired resource => .acquired (key, resource)
  | .used resource => .used (key, resource)
  | .released resource => .released (key, resource)

def taggedUsers (users : ρ → List ρ) (resource : κ × ρ) : List (κ × ρ) :=
  (users resource.2).map (resource.1, ·)

def graft (owned : κ × ρ → Bool) (key : κ) (own : ρ → Bool) (resource : κ × ρ) : Bool :=
  if resource.1 = key then own resource.2 else owned resource

theorem graft_update (owned : κ × ρ → Bool) (key : κ) (own : ρ → Bool) (resource : ρ)
    (value : Bool) : Function.update (graft owned key own) (key, resource) value =
      graft owned key (Function.update own resource value) := by
  funext ⟨other, changed⟩
  by_cases mine : other = key
  · subst mine
    by_cases same : changed = resource
    · subst same
      simp [graft]
    · rw [Function.update_of_ne (by simpa using same)]
      simp [graft, Function.update_of_ne same]
  · rw [Function.update_of_ne (by simp [mine])]
    simp [graft, mine]

variable {users : ρ → List ρ} {owned : κ × ρ → Bool} {key : κ} {own next : ρ → Bool}

theorem post_tag {entry : Entry ρ} (posted : post users own entry = some next) :
    post (taggedUsers users) (graft owned key own) (entry.tag key) =
      some (graft owned key next) := by
  cases entry with
  | acquired resource =>
      simp only [post, Option.ite_none_left_eq_some, Option.some.injEq] at posted
      obtain ⟨fresh, rfl⟩ := posted
      simp [Entry.tag, post, graft, fresh, ← graft_update]
  | used resource =>
      simp only [post, Option.ite_none_right_eq_some, Option.some.injEq] at posted
      obtain ⟨held, rfl⟩ := posted
      simp [Entry.tag, post, graft, held]
  | released resource =>
      simp only [post, Option.ite_none_right_eq_some, Option.some.injEq] at posted
      obtain ⟨⟨held, free⟩, rfl⟩ := posted
      rw [← graft_update]
      refine if_pos ⟨by simp [graft, held], fun user member => ?_⟩
      obtain ⟨own, known, rfl⟩ := List.mem_map.1 member
      simp [graft, free own known]

theorem run_tag {entries : List (Entry ρ)} (posted : run (post users) own entries = some next) :
    run (post (taggedUsers users)) (graft owned key own) (entries.map (Entry.tag key)) =
      some (graft owned key next) := by
  induction entries generalizing own with
  | nil =>
      obtain rfl := Option.some.inj posted
      rfl
  | cons entry rest ih =>
      obtain ⟨middle, first, later⟩ := run_cons_inv posted
      simp only [List.map_cons, run, post_tag first, Option.bind_some]
      exact ih later

end

end Ledger
