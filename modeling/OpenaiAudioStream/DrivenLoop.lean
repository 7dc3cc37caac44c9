import Mathlib.Order.WellFounded

/-!
Loops that a schedule of answers drives: each step is a total function of the answer and
the state. An invariant is kept by every step, and a loop whose steps descend ends.
-/

namespace DrivenLoop

variable {σ ℓ γ : Type*}

def drive (step : ℓ → σ → σ) (answers : Nat → ℓ) (start : σ) : Nat → σ
  | 0 => start
  | count + 1 => step (answers count) (drive step answers start count)

theorem drive_invariant {step : ℓ → σ → σ} {invariant : σ → Prop}
    (preserved : ∀ answer state, invariant state → invariant (step answer state))
    (answers : Nat → ℓ) {start : σ} (initial : invariant start) (count : Nat) :
    invariant (drive step answers start count) := by
  induction count with
  | zero => exact initial
  | succ count ih => exact preserved _ _ ih

theorem drive_ends [Preorder γ] [WellFoundedLT γ] {step : ℓ → σ → σ} {invariant done : σ → Prop}
    (rank : σ → γ) (preserved : ∀ answer state, invariant state → invariant (step answer state))
    (descends : ∀ answer state, invariant state → ¬done state →
      rank (step answer state) < rank state)
    (answers : Nat → ℓ) {start : σ} (initial : invariant start) :
    ∃ count, done (drive step answers start count) := by
  have fromRank : ∀ (bound : γ) (count : Nat), rank (drive step answers start count) = bound →
      ∃ later, done (drive step answers start later) := by
    intro bound
    induction bound using WellFoundedLT.induction with
    | ind bound ih =>
        intro count reached
        by_cases ended : done (drive step answers start count)
        · exact ⟨count, ended⟩
        · have held := drive_invariant preserved answers initial count
          have lower := descends (answers count) _ held ended
          rw [reached] at lower
          exact ih _ lower (count + 1) rfl
  exact fromRank _ 0 rfl

end DrivenLoop
