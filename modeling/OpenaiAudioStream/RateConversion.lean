import Mathlib.Algebra.Order.Floor.Div

/-!
Accounts of a converter between two sampling rates: output `k` is due at the input
position `k * inRate / outRate`, counted from the start. A call gives the outputs due
before the end of what it is offered, as far as its room goes, and takes input up to the
position of the next one.
-/

namespace RateConversion

/-- How many outputs are due before an input position. -/
def due (inRate outRate position : Nat) : Nat := (position * outRate) ⌈/⌉ inRate

structure Account where
  taken : Nat
  given : Nat

def Account.call (inRate outRate : Nat) (account : Account) (offered room : Nat) : Account :=
  let due := due inRate outRate (account.taken + offered)
  let given := account.given + min room (due - account.given)
  ⟨account.taken + min offered (given * inRate / outRate - account.taken), given⟩

def Account.Exact (inRate outRate : Nat) (account : Account) : Prop :=
  account.given = due inRate outRate account.taken

variable {inRate outRate : Nat}

theorem due_zero (inRate outRate : Nat) : due inRate outRate 0 = 0 := by
  rw [due, Nat.zero_mul, zero_ceilDiv]

theorem due_same {rate : Nat} (positive : 0 < rate) (position : Nat) :
    due rate rate position = position := by
  rw [due, Nat.mul_comm, ← smul_eq_mul, smul_ceilDiv positive]

theorem due_mono (inPositive : 0 < inRate) {first second : Nat} (le : first ≤ second) :
    due inRate outRate first ≤ due inRate outRate second := by
  rw [due, ceilDiv_le_iff_le_mul inPositive]
  have reached : second * outRate ≤ inRate * due inRate outRate second :=
    (ceilDiv_le_iff_le_mul inPositive).1 (Nat.le_refl _)
  exact Nat.le_trans (Nat.mul_le_mul_right outRate le) reached

theorem due_add_le (inPositive : 0 < inRate) (position offered : Nat) :
    due inRate outRate (position + offered) ≤
      due inRate outRate position + (offered * outRate / inRate + 1) := by
  rw [due, ceilDiv_le_iff_le_mul inPositive, Nat.mul_add, Nat.add_mul]
  have before : position * outRate ≤ inRate * due inRate outRate position :=
    (ceilDiv_le_iff_le_mul inPositive).1 (Nat.le_refl _)
  have later : offered * outRate ≤ inRate * (offered * outRate / inRate + 1) :=
    Nat.le_of_lt (Nat.lt_mul_div_succ _ inPositive)
  exact Nat.add_le_add before later

theorem le_nextPosition (inPositive : 0 < inRate) (outPositive : 0 < outRate) (position : Nat) :
    position ≤ due inRate outRate position * inRate / outRate := by
  rw [Nat.le_div_iff_mul_le outPositive, Nat.mul_comm _ inRate]
  exact (ceilDiv_le_iff_le_mul inPositive).1 (Nat.le_refl _)

theorem Account.exact_start : Account.Exact inRate outRate ⟨0, 0⟩ := (due_zero inRate outRate).symm

/-- With room for what comes due, a call takes everything and stays exact. -/
theorem Account.call_exact (inPositive : 0 < inRate) (outPositive : 0 < outRate)
    {account : Account} (exact : account.Exact inRate outRate) {offered room : Nat}
    (enough : due inRate outRate (account.taken + offered) ≤ account.given + room) :
    account.call inRate outRate offered room =
      ⟨account.taken + offered, due inRate outRate (account.taken + offered)⟩ := by
  have grown : account.given ≤ due inRate outRate (account.taken + offered) := by
    rw [exact]
    exact due_mono inPositive (Nat.le_add_right _ _)
  have given : account.given +
      min room (due inRate outRate (account.taken + offered) - account.given) =
        due inRate outRate (account.taken + offered) := by
    omega
  have reached := le_nextPosition inPositive outPositive (account.taken + offered)
  simp only [Account.call, given, Account.mk.injEq, and_true]
  omega

end RateConversion
