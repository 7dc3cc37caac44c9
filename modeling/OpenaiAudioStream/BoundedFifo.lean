import Mathlib.Data.List.Basic

/-!
A first-in first-out buffer of fixed capacity. A write is taken whole or
rejected whole; reads and tosses remove from the front.
-/

structure BoundedFifo (α : Type*) where
  capacity : Nat
  contents : List α
  bounded : contents.length ≤ capacity
  deriving DecidableEq

namespace BoundedFifo

variable {α β : Type*}

def create (capacity : Nat) : BoundedFifo α where
  capacity := capacity
  contents := []
  bounded := Nat.zero_le _

def inuse (buffer : BoundedFifo α) : Nat := buffer.contents.length

def freespace (buffer : BoundedFifo α) : Nat := buffer.capacity - buffer.contents.length

/-- The new fill level and buffer; a write beyond the free space returns 0 and changes nothing. -/
def write (buffer : BoundedFifo α) (data : List α) : Nat × BoundedFifo α :=
  if fits : data.length ≤ buffer.freespace then
    (buffer.inuse + data.length, {
      capacity := buffer.capacity
      contents := buffer.contents ++ data
      bounded := by
        have := buffer.bounded
        simp only [freespace] at fits
        simp only [List.length_append]
        omega
    })
  else (0, buffer)

def toss (buffer : BoundedFifo α) (count : Nat) : BoundedFifo α where
  capacity := buffer.capacity
  contents := buffer.contents.drop count
  bounded := by
    have := buffer.bounded
    simp only [List.length_drop]
    omega

def read (buffer : BoundedFifo α) (count : Nat) : List α × BoundedFifo α :=
  (buffer.contents.take count, buffer.toss count)

def zero (buffer : BoundedFifo α) : BoundedFifo α := create buffer.capacity

def map (f : α → β) (buffer : BoundedFifo α) : BoundedFifo β where
  capacity := buffer.capacity
  contents := buffer.contents.map f
  bounded := by simpa using buffer.bounded

@[simp] theorem create_contents (capacity : Nat) :
    (create capacity : BoundedFifo α).contents = [] := rfl

@[simp] theorem create_capacity (capacity : Nat) :
    (create capacity : BoundedFifo α).capacity = capacity := rfl

@[simp] theorem zero_contents (buffer : BoundedFifo α) : buffer.zero.contents = [] := rfl

@[simp] theorem zero_capacity (buffer : BoundedFifo α) : buffer.zero.capacity = buffer.capacity :=
  rfl

@[simp] theorem toss_contents (buffer : BoundedFifo α) (count : Nat) :
    (buffer.toss count).contents = buffer.contents.drop count := rfl

@[simp] theorem toss_capacity (buffer : BoundedFifo α) (count : Nat) :
    (buffer.toss count).capacity = buffer.capacity := rfl

@[simp] theorem read_fst (buffer : BoundedFifo α) (count : Nat) :
    (buffer.read count).1 = buffer.contents.take count := rfl

@[simp] theorem read_snd (buffer : BoundedFifo α) (count : Nat) :
    (buffer.read count).2 = buffer.toss count := rfl

@[simp] theorem write_capacity (buffer : BoundedFifo α) (data : List α) :
    (buffer.write data).2.capacity = buffer.capacity := by
  unfold write
  split <;> rfl

theorem write_contents {buffer : BoundedFifo α} {data : List α}
    (fits : data.length ≤ buffer.freespace) :
    (buffer.write data).2.contents = buffer.contents ++ data := by
  simp [write, fits]

theorem write_level {buffer : BoundedFifo α} {data : List α}
    (fits : data.length ≤ buffer.freespace) :
    (buffer.write data).1 = buffer.inuse + data.length := by
  simp [write, fits]

theorem fits_of_written {buffer : BoundedFifo α} {data : List α}
    (written : (buffer.write data).1 ≠ 0) : data.length ≤ buffer.freespace := by
  by_contra full
  exact written (by simp [write, full])

theorem write_eq_zero {buffer : BoundedFifo α} {data : List α} (nonempty : data ≠ []) :
    (buffer.write data).1 = 0 ↔ buffer.freespace < data.length := by
  have positive := List.length_pos_iff.mpr nonempty
  unfold write
  split
  · simp only
    omega
  · simp only [true_iff]
    omega

@[simp] theorem map_contents (f : α → β) (buffer : BoundedFifo α) :
    (buffer.map f).contents = buffer.contents.map f := rfl

theorem inuse_map (f : α → β) (buffer : BoundedFifo α) : (buffer.map f).inuse = buffer.inuse := by
  simp [inuse]

theorem zero_map (f : α → β) (buffer : BoundedFifo α) : (buffer.map f).zero = buffer.zero.map f :=
  rfl

theorem toss_map (f : α → β) (buffer : BoundedFifo α) (count : Nat) :
    (buffer.map f).toss count = (buffer.toss count).map f := by
  simp [toss, map, List.map_drop]

theorem write_map (f : α → β) (buffer : BoundedFifo α) (data : List α) :
    (buffer.map f).write (data.map f) = ((buffer.write data).1, (buffer.write data).2.map f) := by
  by_cases fits : data.length ≤ buffer.capacity - buffer.contents.length
  · simp [write, freespace, inuse, map, fits]
  · simp [write, freespace, map, fits]

end BoundedFifo
