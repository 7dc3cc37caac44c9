import Mathlib.Data.List.Basic

/-!
Strings of C: characters up to a NUL, pointers into them, and loops that walk such a
pointer. A pointer is what stands from it up to the NUL, so none points behind the NUL;
a read behind the NUL and a move behind it have no result.
-/

structure CString (α : Type) (nul : α) where
  contents : List α
  nonzero : ∀ c ∈ contents, c ≠ nul

namespace CString

variable {α σ β : Type}

def read (nul : α) (pointer : List α) (offset : Nat) : Option α :=
  (pointer ++ [nul])[offset]?

@[simp] theorem read_nil_zero (nul : α) : read nul [] 0 = some nul := rfl

@[simp] theorem read_cons_zero (nul c : α) (rest : List α) : read nul (c :: rest) 0 = some c := rfl

@[simp] theorem read_cons_succ (nul c : α) (rest : List α) (offset : Nat) :
    read nul (c :: rest) (offset + 1) = read nul rest offset := rfl

theorem exists_read (nul : α) (pointer : List α) : ∃ c, read nul pointer 0 = some c := by
  rcases pointer with _ | ⟨c, pointer⟩
  · exact ⟨nul, rfl⟩
  · exact ⟨c, rfl⟩

def advance (pointer : List α) (count : Nat) : Option (List α) :=
  if count ≤ pointer.length then some (pointer.drop count) else none

@[simp] theorem advance_cons_one (c : α) (rest : List α) : advance (c :: rest) 1 = some rest := by
  simp [advance]

def memcpy (destination source : List α) : Option (List α) :=
  if source.length ≤ destination.length then some (source ++ destination.drop source.length)
  else none

/-- `strcasecmp(left, right) == 0` in the C locale. -/
def sameCaseless (left right : List Char) : Prop :=
  left.map Char.toLower = right.map Char.toLower

instance (left right : List Char) : Decidable (sameCaseless left right) :=
  inferInstanceAs (Decidable (_ = _))

theorem toLower_below {c : Char} (below : c.toNat < 'A'.toNat) : c.toLower = c := by
  refine dif_neg fun upper => ?_
  exact absurd (Nat.lt_of_lt_of_le below upper.1) (Nat.lt_irrefl _)

/-- What one round of a loop does: leave it, or go on with a state and a moved pointer. -/
inductive Round (σ β : Type) where
  | leave (value : β)
  | forward (state : σ) (count : Nat)

/-- No result where a round has none, moves behind the NUL, or does not move at all. -/
def loop (round : σ → List α → Option (Round σ β)) (state : σ) (pointer : List α) : Option β :=
  match round state pointer with
  | none => none
  | some (.leave value) => some value
  | some (.forward next count) =>
      if 0 < count ∧ count ≤ pointer.length then loop round next (pointer.drop count) else none
termination_by pointer.length
decreasing_by simp; omega

variable {round : σ → List α → Option (Round σ β)} {state next : σ}

theorem loop_leave {pointer : List α} {value : β}
    (left : round state pointer = some (.leave value)) :
    loop round state pointer = some value := by
  rw [loop, left]

theorem loop_forward {taken rest : List α} (moved : taken ≠ [])
    (went : round state (taken ++ rest) = some (.forward next taken.length)) :
    loop round state (taken ++ rest) = loop round next rest := by
  have positive : 0 < taken.length := List.length_pos_iff.2 moved
  rw [loop, went]
  simp [positive]

theorem loop_step {c : α} {rest : List α}
    (went : round state (c :: rest) = some (.forward next 1)) :
    loop round state (c :: rest) = loop round next rest :=
  @loop_forward _ _ _ round state next [c] rest (by simp) went

end CString
