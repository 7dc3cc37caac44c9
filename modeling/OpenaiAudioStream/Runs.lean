import Mathlib.Data.Option.Basic

/-!
Runs of a partial labelled step function, and the induction rules for them.
Nothing here mentions a particular program: the labels of a run are a schedule,
so a fact about every run is a fact about every interleaving.
-/

namespace Runs

variable {σ τ ℓ : Type*}

def run (step : σ → ℓ → Option σ) : σ → List ℓ → Option σ
  | state, [] => some state
  | state, label :: rest => (step state label).bind fun next => run step next rest

/-- Every step that the run takes meets the condition, in the state before it. -/
def Along (step : σ → ℓ → Option σ) (condition : σ → ℓ → Prop) : σ → List ℓ → Prop
  | _, [] => True
  | state, label :: rest => condition state label ∧
      match step state label with
      | none => True
      | some next => Along step condition next rest

instance Along.decidable (step : σ → ℓ → Option σ) (condition : σ → ℓ → Prop)
    [∀ state label, Decidable (condition state label)] :
    ∀ state labels, Decidable (Along step condition state labels)
  | _, [] => inferInstanceAs (Decidable True)
  | state, label :: rest =>
      @instDecidableAnd _ _ _ (match step state label with
        | none => inferInstanceAs (Decidable True)
        | some next => Along.decidable step condition next rest)

@[simp] theorem run_nil (step : σ → ℓ → Option σ) (state : σ) : run step state [] = some state :=
  rfl

theorem exists_run {step : σ → ℓ → Option σ} {start : σ} {labels : List ℓ} {property : σ → Prop}
    [DecidablePred property]
    (found : ((run step start labels).any fun final => decide (property final)) = true) :
    ∃ final, run step start labels = some final ∧ property final := by
  obtain ⟨final, reached, holds⟩ := (Option.any_eq_true _ _).mp found
  exact ⟨final, reached, of_decide_eq_true holds⟩

theorem run_cons_inv {step : σ → ℓ → Option σ} {state final : σ} {label : ℓ} {rest : List ℓ}
    (reached : run step state (label :: rest) = some final) :
    ∃ next, step state label = some next ∧ run step next rest = some final := by
  simpa [run, Option.bind_eq_some_iff] using reached

theorem run_snoc {step : σ → ℓ → Option σ} {start middle final : σ} {labels : List ℓ} {label : ℓ}
    (reached : run step start labels = some middle) (taken : step middle label = some final) :
    run step start (labels ++ [label]) = some final := by
  induction labels generalizing start with
  | nil =>
      simp only [run_nil, Option.some.injEq] at reached
      simp [run, reached, taken]
  | cons first rest ih =>
      obtain ⟨next, moved, later⟩ := run_cons_inv reached
      simp [run, moved, ih later]

theorem along_cons_some {step : σ → ℓ → Option σ} {condition : σ → ℓ → Prop} {state next : σ}
    {label : ℓ} {rest : List ℓ} (taken : step state label = some next)
    (guarded : Along step condition state (label :: rest)) :
    condition state label ∧ Along step condition next rest := by
  simpa [Along, taken] using guarded

/-- The induction over a run whose steps meet a condition. -/
theorem along_invariant {step : σ → ℓ → Option σ} {condition : σ → ℓ → Prop} {invariant : σ → Prop}
    (preserved : ∀ state label next, invariant state → condition state label →
      step state label = some next → invariant next)
    {labels : List ℓ} {start final : σ} (initial : invariant start)
    (guarded : Along step condition start labels) (reached : run step start labels = some final) :
    invariant final := by
  induction labels generalizing start with
  | nil =>
      simp only [run_nil, Option.some.injEq] at reached
      exact reached ▸ initial
  | cons label rest ih =>
      obtain ⟨next, taken, later⟩ := run_cons_inv reached
      have parts := along_cons_some taken guarded
      exact ih (preserved start label next initial parts.1 taken) parts.2 later

theorem along_trivial (step : σ → ℓ → Option σ) (state : σ) (labels : List ℓ) :
    Along step (fun _ _ => True) state labels := by
  induction labels generalizing state with
  | nil => trivial
  | cons label rest ih =>
      refine ⟨trivial, ?_⟩
      cases step state label with
      | none => trivial
      | some next => exact ih next

theorem run_invariant {step : σ → ℓ → Option σ} {invariant : σ → Prop}
    (preserved : ∀ state label next, invariant state → step state label = some next →
      invariant next)
    {labels : List ℓ} {start final : σ} (initial : invariant start)
    (reached : run step start labels = some final) : invariant final :=
  along_invariant
    (fun state label next held _ taken => preserved state label next held taken)
    initial (along_trivial step start labels) reached

theorem along_and {step : σ → ℓ → Option σ} {first second : σ → ℓ → Prop} {start : σ}
    {labels : List ℓ} (left : Along step first start labels)
    (right : Along step second start labels) :
    Along step (fun state label => first state label ∧ second state label) start labels := by
  induction labels generalizing start with
  | nil => trivial
  | cons label rest ih =>
      refine ⟨⟨left.1, right.1⟩, ?_⟩
      cases taken : step start label with
      | none => trivial
      | some next => exact ih (along_cons_some taken left).2 (along_cons_some taken right).2

theorem along_of_invariant {step : σ → ℓ → Option σ} {condition property : σ → ℓ → Prop}
    {invariant : σ → Prop}
    (preserved : ∀ state label next, invariant state → condition state label →
      step state label = some next → invariant next)
    (implied : ∀ state label, invariant state → condition state label → property state label)
    {labels : List ℓ} {start : σ} (initial : invariant start)
    (guarded : Along step condition start labels) : Along step property start labels := by
  induction labels generalizing start with
  | nil => trivial
  | cons label rest ih =>
      refine ⟨implied start label initial guarded.1, ?_⟩
      cases taken : step start label with
      | none => trivial
      | some next =>
          have parts := along_cons_some taken guarded
          exact ih (preserved start label next initial parts.1 taken) parts.2

theorem along_of_labels {step : σ → ℓ → Option σ} {condition : ℓ → Prop} {labels : List ℓ}
    (met : ∀ label ∈ labels, condition label) (start : σ) :
    Along step (fun _ label => condition label) start labels := by
  induction labels generalizing start with
  | nil => trivial
  | cons label rest ih =>
      refine ⟨met label (by simp), ?_⟩
      cases step start label with
      | none => trivial
      | some next => exact ih (fun other member => met other (by simp [member])) next

/-- Counted steps are paid for by a rank, which only steps that earn can raise. -/
theorem run_counted {step : σ → ℓ → Option σ} {invariant : σ → Prop} {condition : ℓ → Prop}
    {rank : σ → Nat} {counted earning : ℓ → Bool} {gain : Nat}
    (descends : ∀ state label next, invariant state → condition label →
      step state label = some next → invariant next ∧
        (if counted label then 1 else 0) + rank next ≤
          rank state + if earning label then gain else 0)
    {labels : List ℓ} {start final : σ} (initial : invariant start)
    (met : ∀ label ∈ labels, condition label) (reached : run step start labels = some final) :
    labels.countP counted + rank final ≤ rank start + gain * labels.countP earning := by
  induction labels generalizing start with
  | nil =>
      simp only [run_nil, Option.some.injEq] at reached
      simp [reached]
  | cons label rest ih =>
      obtain ⟨next, taken, later⟩ := run_cons_inv reached
      obtain ⟨held, first⟩ := descends start label next initial (met label (by simp)) taken
      have onward := ih held (fun other member => met other (by simp [member])) later
      have earned : gain * (rest.countP earning + if earning label then 1 else 0) =
          gain * rest.countP earning + if earning label then gain else 0 := by
        split <;> simp [Nat.mul_succ]
      simp only [List.countP_cons, earned]
      omega

theorem run_balanced {step : σ → ℓ → Option σ} {invariant : σ → Prop} {measure : σ → Nat}
    {taken given : ℓ → Bool}
    (balances : ∀ state label next, invariant state → step state label = some next →
      invariant next ∧ measure next + (if taken label then 1 else 0) =
        measure state + if given label then 1 else 0)
    {labels : List ℓ} {start final : σ} (initial : invariant start)
    (reached : run step start labels = some final) :
    measure final + labels.countP taken = measure start + labels.countP given := by
  induction labels generalizing start with
  | nil =>
      simp only [run_nil, Option.some.injEq] at reached
      simp [reached]
  | cons label rest ih =>
      obtain ⟨next, moved, later⟩ := run_cons_inv reached
      obtain ⟨held, first⟩ := balances start label next initial moved
      have onward := ih held later
      simp only [List.countP_cons]
      omega

def total (value : ℓ → Nat) : List ℓ → Nat
  | [] => 0
  | label :: rest => value label + total value rest

theorem total_erase [DecidableEq ℓ] {value : ℓ → Nat} {label : ℓ} {labels : List ℓ}
    (member : label ∈ labels) :
    value label + total value (labels.erase label) = total value labels := by
  induction labels with
  | nil => cases member
  | cons first rest ih =>
      by_cases same : first = label
      · subst same
        simp [total]
      · have left := ih ((List.mem_cons.1 member).resolve_left (Ne.symm same))
        rw [List.erase_cons_tail (by simpa using same)]
        simp only [total]
        omega

/-- Counted steps are paid for by a rank, which each step raises by no more than it pays. -/
theorem run_paid {step : σ → ℓ → Option σ} {invariant : σ → Prop} {rank : σ → Nat}
    {counted : ℓ → Bool} {paid : ℓ → Nat}
    (descends : ∀ state label next, invariant state → step state label = some next →
      invariant next ∧ (if counted label then 1 else 0) + rank next ≤ rank state + paid label)
    {labels : List ℓ} {start final : σ} (initial : invariant start)
    (reached : run step start labels = some final) :
    labels.countP counted + rank final ≤ rank start + total paid labels := by
  induction labels generalizing start with
  | nil =>
      simp only [run_nil, Option.some.injEq] at reached
      simp [reached, total]
  | cons label rest ih =>
      obtain ⟨next, taken, later⟩ := run_cons_inv reached
      obtain ⟨held, first⟩ := descends start label next initial taken
      have onward := ih held later
      simp only [List.countP_cons, total]
      omega

/-- A map of states that commutes with every step commutes with every run. -/
theorem run_map {step : σ → ℓ → Option σ} {mapped : τ → ℓ → Option τ} (abstraction : σ → τ)
    (commutes : ∀ state label,
      mapped (abstraction state) label = (step state label).map abstraction)
    (start : σ) (labels : List ℓ) :
    run mapped (abstraction start) labels = (run step start labels).map abstraction := by
  induction labels generalizing start with
  | nil => rfl
  | cons label rest ih =>
      simp only [run, commutes]
      cases step start label with
      | none => rfl
      | some next => exact ih next

/-! A run with hidden steps, and the run on what is left of its schedule. -/

/-- The labels of the steps that are not hidden in the state they are taken in. -/
def visible (step : σ → ℓ → Option σ) (hidden : σ → ℓ → Bool) : σ → List ℓ → List ℓ
  | _, [] => []
  | state, label :: rest =>
      (if hidden state label then [] else [label]) ++
        match step state label with
        | none => []
        | some next => visible step hidden next rest

theorem visible_cons_some {step : σ → ℓ → Option σ} {hidden : σ → ℓ → Bool} {state next : σ}
    {label : ℓ} {rest : List ℓ} (taken : step state label = some next) :
    visible step hidden state (label :: rest) =
      (if hidden state label then [] else [label]) ++ visible step hidden next rest := by
  simp [visible, taken]

theorem visible_eq_filter {step : σ → ℓ → Option σ} {hidden : ℓ → Bool} {start final : σ}
    {labels : List ℓ} (reached : run step start labels = some final) :
    visible step (fun _ label => hidden label) start labels =
      labels.filter fun label => !hidden label := by
  induction labels generalizing start with
  | nil => rfl
  | cons label rest ih =>
      obtain ⟨next, taken, later⟩ := run_cons_inv reached
      rw [visible_cons_some taken, ih later]
      cases silent : hidden label <;> simp [silent]

theorem exists_of_rel {relation : σ → τ → Prop} {outcome : σ} {answer : Option τ}
    (matched : Option.Rel relation (some outcome) answer) :
    ∃ reply, answer = some reply ∧ relation outcome reply := by
  cases matched with
  | some related => exact ⟨_, rfl, related⟩

/-- A hidden step keeps the relation and every other step is matched: then the
run is matched by one on its visible labels. -/
theorem run_erasing {step : σ → ℓ → Option σ} {matching : τ → ℓ → Option τ}
    {hidden : σ → ℓ → Bool} {condition : σ → ℓ → Prop} (related : σ → τ → Prop)
    (stutters : ∀ state other label next, related state other → condition state label →
      hidden state label = true → step state label = some next → related next other)
    (matched : ∀ state other label next, related state other → condition state label →
      hidden state label = false → step state label = some next →
      ∃ reply, matching other label = some reply ∧ related next reply)
    {labels : List ℓ} {start final : σ} {other : τ} (initial : related start other)
    (guarded : Along step condition start labels) (reached : run step start labels = some final) :
    ∃ last, run matching other (visible step hidden start labels) = some last ∧
      related final last := by
  induction labels generalizing start other with
  | nil =>
      simp only [run_nil, Option.some.injEq] at reached
      exact ⟨other, rfl, reached ▸ initial⟩
  | cons label rest ih =>
      obtain ⟨next, taken, later⟩ := run_cons_inv reached
      obtain ⟨met, onward⟩ := along_cons_some taken guarded
      rw [visible_cons_some taken]
      cases silent : hidden start label with
      | true =>
          have kept := stutters start other label next initial met silent taken
          simpa using ih kept onward later
      | false =>
          obtain ⟨reply, answered, kept⟩ := matched start other label next initial met silent taken
          obtain ⟨last, ran, ended⟩ := ih kept onward later
          exact ⟨last, by simp [run, answered, ran], ended⟩

/-- Two runs of one visible schedule stay related when their hidden steps, wherever they
stand, keep the relation and the steps taken by both do. -/
theorem run_paired {step : σ → ℓ → Option σ} {matching : τ → ℓ → Option τ} {hidden : ℓ → Bool}
    (related : σ → τ → Prop)
    (leftStutters : ∀ state other label next, related state other → hidden label = true →
      step state label = some next → related next other)
    (rightStutters : ∀ state other label reply, related state other → hidden label = true →
      matching other label = some reply → related state reply)
    (matched : ∀ state other label next reply, related state other → hidden label = false →
      step state label = some next → matching other label = some reply → related next reply)
    {first second : List ℓ} {start final : σ} {other last : τ} (initial : related start other)
    (same : first.filter (fun label => !hidden label) = second.filter fun label => !hidden label)
    (reached : run step start first = some final) (ran : run matching other second = some last) :
    related final last := by
  induction first generalizing start other second with
  | nil =>
      simp only [run_nil, Option.some.injEq] at reached
      subst reached
      -- what is left of the other schedule is hidden
      induction second generalizing other with
      | nil =>
          simp only [run_nil, Option.some.injEq] at ran
          exact ran ▸ initial
      | cons label rest ih =>
          obtain ⟨reply, answered, onward⟩ := run_cons_inv ran
          cases silent : hidden label with
          | false => simp [silent] at same
          | true =>
              have kept := rightStutters start other label reply initial silent answered
              exact ih kept (by simpa [silent] using same) onward
  | cons label rest ih =>
      obtain ⟨next, taken, later⟩ := run_cons_inv reached
      cases silent : hidden label with
      | true =>
          have kept := leftStutters start other label next initial silent taken
          exact ih kept (by simpa [silent] using same) later ran
      | false =>
          -- the other run gets to this label through hidden ones
          induction second generalizing other with
          | nil => simp [silent] at same
          | cons answer others inner =>
              obtain ⟨reply, answered, onward⟩ := run_cons_inv ran
              cases quiet : hidden answer with
              | true =>
                  have kept := rightStutters start other answer reply initial quiet answered
                  exact inner kept (by simpa [quiet] using same) onward
              | false =>
                  simp only [List.filter_cons, silent, quiet, Bool.not_false, if_true,
                    List.cons.injEq] at same
                  obtain ⟨rfl, tails⟩ := same
                  have kept := matched start other label next reply initial silent taken answered
                  exact ih kept tails later onward

/-! Histories, newest event first. -/

section

variable {ε : Type*}

/-- Every event satisfies a property that may refer to the events before it. -/
def EveryEvent (property : List ε → ε → Prop) : List ε → Prop
  | [] => True
  | event :: older => property older event ∧ EveryEvent property older

instance EveryEvent.decidable (property : List ε → ε → Prop)
    [∀ older event, Decidable (property older event)] :
    ∀ history, Decidable (EveryEvent property history)
  | [] => inferInstanceAs (Decidable True)
  | _ :: older => @instDecidableAnd _ _ inferInstance (EveryEvent.decidable property older)

variable {α : Type*}

def gathered (carried : ε → List α) : List ε → List α
  | [] => []
  | event :: older => gathered carried older ++ carried event

@[simp] theorem gathered_nil (carried : ε → List α) : gathered carried [] = [] := rfl

@[simp] theorem gathered_cons (carried : ε → List α) (event : ε) (older : List ε) :
    gathered carried (event :: older) = gathered carried older ++ carried event := rfl

theorem gathered_append (carried : ε → List α) (newer older : List ε) :
    gathered carried (newer ++ older) = gathered carried older ++ gathered carried newer := by
  induction newer with
  | nil => simp
  | cons event newer ih => simp [ih]

theorem gathered_reverse (carried : ε → List α) (events : List ε) :
    gathered carried events.reverse = events.flatMap carried := by
  induction events with
  | nil => rfl
  | cons event events ih => simp [gathered_append, ih]

theorem gathered_congr {carried other : ε → List α} {history : List ε}
    (same : ∀ event ∈ history, carried event = other event) :
    gathered carried history = gathered other history := by
  induction history with
  | nil => rfl
  | cons event older ih =>
      simp only [gathered_cons, same event (by simp)]
      rw [ih fun earlier member => same earlier (by simp [member])]

end

end Runs
