import Mathlib.Data.List.Induction
import Mathlib.Data.List.Pairwise
import Mathlib.Data.Setoid.Basic

/-!
Maps whose keys are compared up to an equivalence: at most one entry for each class, and
an assignment to a class that is there keeps its first key.
-/

structure SetoidMap (α β : Type) [Setoid α] where
  entries : List (α × β)
  distinct : entries.Pairwise fun left right => ¬left.1 ≈ right.1

namespace SetoidMap

variable {α β : Type} [Setoid α] [DecidableRel ((· ≈ ·) : α → α → Prop)]

def empty : SetoidMap α β := ⟨[], .nil⟩

def get (map : SetoidMap α β) (key : α) : Option β :=
  (map.entries.find? fun entry => entry.1 ≈ key).map Prod.snd

def assign (key : α) (value : β) : List (α × β) → List (α × β)
  | [] => [(key, value)]
  | entry :: rest =>
      if entry.1 ≈ key then (entry.1, value) :: rest else entry :: assign key value rest

theorem mem_assign {key : α} {value : β} {entries : List (α × β)} {entry : α × β}
    (member : entry ∈ assign key value entries) :
    entry.1 = key ∨ ∃ old ∈ entries, old.1 = entry.1 := by
  induction entries with
  | nil =>
      obtain rfl := List.mem_singleton.1 member
      exact .inl rfl
  | cons first rest ih =>
      rw [assign] at member
      split at member
      · rcases List.mem_cons.1 member with rfl | member
        · exact .inr ⟨first, by simp, rfl⟩
        · exact .inr ⟨entry, by simp [member], rfl⟩
      · rcases List.mem_cons.1 member with rfl | member
        · exact .inr ⟨entry, by simp, rfl⟩
        · rcases ih member with same | ⟨old, member, same⟩
          · exact .inl same
          · exact .inr ⟨old, by simp [member], same⟩

theorem assign_distinct (key : α) (value : β) {entries : List (α × β)}
    (distinct : entries.Pairwise fun left right => ¬left.1 ≈ right.1) :
    (assign key value entries).Pairwise fun left right => ¬left.1 ≈ right.1 := by
  induction entries with
  | nil => simp [assign]
  | cons first rest ih =>
      obtain ⟨apart, distinct⟩ := List.pairwise_cons.1 distinct
      rw [assign]
      split
      · exact List.pairwise_cons.2 ⟨apart, distinct⟩
      · next other =>
        refine List.pairwise_cons.2 ⟨fun entry member => ?_, ih distinct⟩
        rcases mem_assign member with same | ⟨old, member, same⟩
        · rwa [same]
        · rw [← same]
          exact apart old member

def set (map : SetoidMap α β) (key : α) (value : β) : SetoidMap α β :=
  ⟨assign key value map.entries, assign_distinct key value map.distinct⟩

theorem find_assign (key other : α) (value : β) (entries : List (α × β)) :
    ((assign key value entries).find? fun entry => entry.1 ≈ other).map Prod.snd =
      if key ≈ other then some value
      else (entries.find? fun entry => entry.1 ≈ other).map Prod.snd := by
  induction entries with
  | nil => by_cases same : key ≈ other <;> simp [assign, same]
  | cons first rest ih =>
      by_cases replaced : first.1 ≈ key
      · have iff : first.1 ≈ other ↔ key ≈ other :=
          ⟨fun same => Setoid.trans (Setoid.symm replaced) same, Setoid.trans replaced⟩
        by_cases same : key ≈ other <;> simp [assign, replaced, iff, same]
      · by_cases same : first.1 ≈ other
        · have apart : ¬key ≈ other := fun equal =>
            replaced (Setoid.trans same (Setoid.symm equal))
          simp [assign, replaced, same, apart]
        · simpa [assign, replaced, same] using ih

theorem get_set (map : SetoidMap α β) (key other : α) (value : β) :
    (map.set key value).get other = if key ≈ other then some value else map.get other :=
  find_assign key other value map.entries

def assignAll (assignments : List (α × β)) : SetoidMap α β :=
  assignments.foldl (fun map entry => map.set entry.1 entry.2) empty

/-- The last assignment to a class counts. -/
theorem get_assignAll (assignments : List (α × β)) (key : α) :
    (assignAll assignments).get key =
      (assignments.filter fun entry => entry.1 ≈ key).getLast?.map Prod.snd := by
  induction assignments using List.reverseRecOn with
  | nil => rfl
  | append_singleton assignments entry ih =>
      rw [assignAll, List.foldl_append, List.foldl_cons, List.foldl_nil, get_set]
      change (if entry.1 ≈ key then some entry.2 else (assignAll assignments).get key) = _
      rw [ih]
      by_cases same : entry.1 ≈ key <;> simp [same]

end SetoidMap
